/-!
The functions that the tasks of a generated script call when they run.
-/
namespace WorkflowCompiler.Script

def helpersLines : List String := [
    "",
    "",
    "_CREDENTIALS_VARIABLE = \"COMPOSER_SERVICE_ACCOUNT_CREDENTIALS_SECRET\"",
    "_CONFIG_COLLECTION = \"gbq-to-gbq-conf\"",
    "_STATUS_COLLECTION = \"gbq-to-gbq-tasks-status\"",
    "_CONTEXT_COLLECTION = \"airflow-com\"",
    "_LOG_DATASET = \"dagen_platform_logs\"",
    "",
    "",
    "def _credentials_info():",
    "    return json.loads(Variable.get(_CREDENTIALS_VARIABLE))",
    "",
    "",
    "def _set_task_status(db, status, **kwargs):",
    "    task_infos = \x7bkwargs[\"ti\"].task_id: status\x7d",
    "    db.collection(_STATUS_COLLECTION).document(kwargs[\"ti\"].dag_id + \"_\" + kwargs[\"run_id\"]).set(task_infos, merge=True)",
    "",
    "",
    "def process_bigquery_record(payload, convert_type_to_string=False):",
    "",
    "    logging.info(\"Processing RECORD type ...\")",
    "",
    "    field_description = payload.get(\"description\")",
    "    mode = payload.get(\"mode\", \"NULLABLE\")",
    "",
    "    list_fields = []",
    "    for field in payload.get(\"fields\", []):",
    "",
    "        field_name = field.get(\"name\")",
    "        field_type = field.get(\"type\")",
    "        if field_name is None or field_type is None:",
    "            continue",
    "        field_type = field_type.strip()",
    "",
    "        logging.info(\"Field name : \x7b\x7d || Field type : \x7b\x7d\".format(field_name, field_type))",
    "",
    "        if field_type == \"RECORD\":",
    "            list_fields.append(process_bigquery_record(field))",
    "            continue",
    "",
    "        if convert_type_to_string is True:",
    "            field_type = \"STRING\"",
    "",
    "        list_fields.append(bigquery.SchemaField(name=field_name,",
    "                                                field_type=field_type,",
    "                                                mode=field.get(\"mode\", \"NULLABLE\"),",
    "                                                description=field.get(\"description\")))",
    "",
    "    return bigquery.SchemaField(payload[\"name\"], payload[\"type\"], description=field_description, mode=mode, fields=tuple(list_fields))",
    "",
    "",
    "def get_firestore_data(collection, doc_id, item, credentials):",
    "",
    "    info = json.loads(credentials)",
    "    db = firestore.Client(credentials=service_account.Credentials.from_service_account_info(info))",
    "",
    "    return (db.collection(collection).document(doc_id).get()).to_dict()[item]",
    "",
    "",
    "def set_firestore_data(collection, doc_id, item, value, credentials):",
    "",
    "    info = json.loads(credentials)",
    "    db = firestore.Client(credentials=service_account.Credentials.from_service_account_info(info))",
    "",
    "    data = \x7bitem: value, \"last_updated\": datetime.datetime.now().isoformat(\"T\")\x7d",
    "    db.collection(collection).document(doc_id).set(data, merge=True)",
    "",
    "",
    "def initialize(**kwargs):",
    "",
    "    credentials = service_account.Credentials.from_service_account_info(_credentials_info())",
    "    db = firestore.Client(credentials=credentials)",
    "",
    "    try:",
    "        db.collection(_STATUS_COLLECTION).document(kwargs[\"ti\"].dag_id + \"_\" + kwargs[\"run_id\"]).delete()",
    "    except Exception:",
    "        logging.info(\"No Tasks Statuses found.\")",
    "",
    "    _set_task_status(db, \"running\", **kwargs)",
    "",
    "    data_read = (db.collection(_CONFIG_COLLECTION).document(_dag_name).get()).to_dict()",
    "    data_read[\"sql\"] = \x7b\x7d",
    "",
    "    guid = datetime.datetime.today().strftime(\"%Y%m%d\") + \"-\" + str(uuid.uuid4())",
    "    set_firestore_data(_CONTEXT_COLLECTION, guid, \"configuration_context\", data_read, Variable.get(_CREDENTIALS_VARIABLE))",
    "    kwargs[\"ti\"].xcom_push(key=\"configuration_context\", value=\x7b\x7d)",
    "    kwargs[\"ti\"].xcom_push(key=\"airflow-com-id\", value=guid)",
    "    kwargs[\"ti\"].xcom_push(key=\"environment\", value=data_read.get(\"environment\"))",
    "    kwargs[\"ti\"].xcom_push(key=\"account\", value=data_read.get(\"account\"))",
    "",
    "    dag_activated = True",
    "    if \"activated\" in data_read:",
    "        dag_activated = json.loads(data_read[\"activated\"])",
    "    else:",
    "        logging.info(\"No activated attribute found in configuration, defaulting to True\")",
    "",
    "    _set_task_status(db, \"success\", **kwargs)",
    "",
    "    if dag_activated is True:",
    "        return \"notify_after_config\"",
    "    return \"notify_deactivated\"",
    "",
    "",
    "def log_to_gbq(short_dag_exec_date,",
    "               dag_execution_date,",
    "               dag_run_id,",
    "               dag_name,",
    "               environment,",
    "               source_sql,",
    "               dest_dataset,",
    "               dest_table,",
    "               num_rows_inserted):",
    "",
    "    credentials = service_account.Credentials.from_service_account_info(_credentials_info())",
    "    gbq_client = bigquery.Client(credentials=credentials)",
    "",
    "    schema = [",
    "        bigquery.SchemaField(\"dag_execution_date\", \"STRING\", mode=\"NULLABLE\"),",
    "        bigquery.SchemaField(\"dag_run_id\", \"STRING\", mode=\"NULLABLE\"),",
    "        bigquery.SchemaField(\"dag_name\", \"STRING\", mode=\"NULLABLE\"),",
    "        bigquery.SchemaField(\"environment\", \"STRING\", mode=\"NULLABLE\"),",
    "        bigquery.SchemaField(\"source_sql\", \"STRING\", mode=\"NULLABLE\"),",
    "        bigquery.SchemaField(\"dest_dataset\", \"STRING\", mode=\"NULLABLE\"),",
    "        bigquery.SchemaField(\"dest_table\", \"STRING\", mode=\"NULLABLE\"),",
    "        bigquery.SchemaField(\"num_rows_inserted\", \"INT64\", mode=\"NULLABLE\")",
    "    ]",
    "",
    "    table_name = \"sql_to_gbq_\" + short_dag_exec_date",
    "    table_ref = gbq_client.dataset(_LOG_DATASET).table(table_name)",
    "",
    "    try:",
    "        gbq_client.get_table(table_ref)",
    "    except exceptions.NotFound:",
    "        gbq_client.create_table(bigquery.Table(table_ref, schema=schema))",
    "",
    "    rows = [\x7b",
    "        \"dag_execution_date\": dag_execution_date,",
    "        \"dag_run_id\": dag_run_id,",
    "        \"dag_name\": dag_name,",
    "        \"environment\": environment,",
    "        \"source_sql\": source_sql,",
    "        \"dest_dataset\": dest_dataset,",
    "        \"dest_table\": dest_table,",
    "        \"num_rows_inserted\": int(num_rows_inserted)",
    "    \x7d]",
    "",
    "    errors = gbq_client.insert_rows_json(table_ref, rows)",
    "    if errors:",
    "        logging.error(\"Failed to log execution : %s\", errors)",
    "",
    "",
    "def execute_gbq(sql_id, env, dag_name, gcp_project_id, bq_dataset, table_name, write_disposition, sql_query_template, run_locally=False, local_sql_query=None, **kwargs):",
    "",
    "    if run_locally is False:",
    "        credentials = service_account.Credentials.from_service_account_info(_credentials_info())",
    "        db = firestore.Client(credentials=credentials)",
    "        _set_task_status(db, \"running\", **kwargs)",
    "",
    "        logging.info(\"Retrieving SQL query from Firestore : %s > %s : sql -> %s\", _CONFIG_COLLECTION, dag_name, sql_id)",
    "        data_read = (db.collection(_CONFIG_COLLECTION).document(dag_name).get()).to_dict()",
    "        sql_query = str(base64.b64decode(data_read[\"sql\"][sql_id]), \"utf-8\")",
    "",
    "        context_id = kwargs[\"ti\"].xcom_pull(key=\"airflow-com-id\")",
    "        config_context = get_firestore_data(_CONTEXT_COLLECTION, context_id, \"configuration_context\", Variable.get(_CREDENTIALS_VARIABLE))",
    "        config_context[\"sql\"][sql_id] = sql_query",
    "        set_firestore_data(_CONTEXT_COLLECTION, context_id, \"configuration_context\", config_context, Variable.get(_CREDENTIALS_VARIABLE))",
    "",
    "        gbq_client = bigquery.Client(project=gcp_project_id, credentials=credentials)",
    "    else:",
    "        sql_query = local_sql_query",
    "        gbq_client = bigquery.Client(project=gcp_project_id)",
    "",
    "    logging.info(\"sql_query_template : %s\", sql_query_template)",
    "    if sql_query_template != \"\":",
    "        execution_date = kwargs.get(\"ds\") or datetime.date.today().isoformat()",
    "        logging.info(\"execution_date : %s\", execution_date)",
    "        sql_query = sql_query.replace(\"\x7b\x7b\" + sql_query_template + \"\x7d\x7d\", execution_date)",
    "",
    "    logging.info(\"SQL Query : \\n%s\", sql_query)",
    "",
    "    job_config = bigquery.QueryJobConfig()",
    "    table_ref = gbq_client.dataset(bq_dataset).table(table_name)",
    "",
    "    # WRITE_TRUNCATE drops column descriptions, keep the current schema to restore it",
    "    try:",
    "        retrieved_schema = list(gbq_client.get_table(table_ref).schema)",
    "    except exceptions.NotFound:",
    "        logging.info(\"Table \x7b\x7d does not exist, cannot retrieve schema.\".format(table_name))",
    "        retrieved_schema = None",
    "",
    "    job_config.destination = table_ref",
    "    job_config.write_disposition = write_disposition",
    "",
    "    query_job = gbq_client.query(sql_query, location=\"EU\", job_config=job_config)",
    "",
    "    try:",
    "        results = query_job.result()",
    "    except exceptions.GoogleCloudError as error:",
    "        logging.error(\"ERROR while executing query : %s\", error)",
    "        raise error",
    "",
    "    if write_disposition == \"WRITE_TRUNCATE\" and retrieved_schema is not None:",
    "        logging.info(\"Updating table schema ...\")",
    "        table_to_modify = gbq_client.get_table(table_ref)",
    "        table_to_modify.schema = retrieved_schema",
    "        gbq_client.update_table(table_to_modify, [\"schema\"])",
    "",
    "    logging.info(\"Rows : %s\", results.total_rows)",
    "",
    "    if run_locally is False:",
    "        log_to_gbq(kwargs[\"ds_nodash\"],",
    "                   kwargs[\"ds\"],",
    "                   kwargs[\"run_id\"],",
    "                   dag_name,",
    "                   env,",
    "                   sql_id,",
    "                   bq_dataset,",
    "                   table_name,",
    "                   results.total_rows or 0)",
    "        _set_task_status(db, \"success\", **kwargs)",
    "",
    "",
    "def execute_bq_copy_table(source_gcp_project_id,",
    "                          source_bq_dataset,",
    "                          source_bq_table,",
    "                          destination_gcp_project_id,",
    "                          destination_bq_dataset,",
    "                          destination_bq_table,",
    "                          destination_bq_table_date_suffix,",
    "                          destination_bq_table_date_suffix_format,",
    "                          run_locally=False,",
    "                          **kwargs):",
    "",
    "    logging.info(\"Copy %s.%s.%s -> %s.%s.%s\",",
    "                 source_gcp_project_id, source_bq_dataset, source_bq_table,",
    "                 destination_gcp_project_id, destination_bq_dataset, destination_bq_table)",
    "",
    "    if run_locally is False:",
    "        credentials = service_account.Credentials.from_service_account_info(_credentials_info())",
    "        gbq_client = bigquery.Client(project=destination_gcp_project_id, credentials=credentials)",
    "        db = firestore.Client(credentials=credentials)",
    "        _set_task_status(db, \"running\", **kwargs)",
    "    else:",
    "        gbq_client = bigquery.Client(project=destination_gcp_project_id)",
    "",
    "    source_table_ref = gbq_client.dataset(source_bq_dataset, project=source_gcp_project_id).table(source_bq_table)",
    "",
    "    if destination_bq_table_date_suffix is True:",
    "        today = datetime.datetime.now().strftime(destination_bq_table_date_suffix_format)",
    "        destination_bq_table += \"_\" + today",
    "        logging.info(\"Destination table : %s\", destination_bq_table)",
    "",
    "    dest_table_ref = gbq_client.dataset(destination_bq_dataset, project=destination_gcp_project_id).table(destination_bq_table)",
    "",
    "    job_config = bigquery.CopyJobConfig()",
    "    job_config.write_disposition = \"WRITE_TRUNCATE\"",
    "",
    "    job = gbq_client.copy_table(source_table_ref, dest_table_ref, location=\"EU\", job_config=job_config)",
    "    job.result()",
    "    assert job.state == \"DONE\"",
    "",
    "    if run_locally is False:",
    "        _set_task_status(db, \"success\", **kwargs)",
    "",
    "",
    "def execute_bq_create_table(gcp_project_id,",
    "                            force_delete,",
    "                            bq_dataset,",
    "                            bq_table,",
    "                            bq_table_description,",
    "                            bq_table_schema,",
    "                            bq_table_clustering_fields,",
    "                            time_partitioning,",
    "                            run_locally=False,",
    "                            **kwargs):",
    "",
    "    full_name = gcp_project_id + \".\" + bq_dataset + \".\" + bq_table",
    "    logging.info(\"Create table : %s\", full_name)",
    "",
    "    if run_locally is False:",
    "        credentials = service_account.Credentials.from_service_account_info(_credentials_info())",
    "        gbq_client = bigquery.Client(project=gcp_project_id, credentials=credentials)",
    "        db = firestore.Client(credentials=credentials)",
    "        _set_task_status(db, \"running\", **kwargs)",
    "    else:",
    "        gbq_client = bigquery.Client(project=gcp_project_id)",
    "",
    "    table_ref = gbq_client.dataset(bq_dataset, project=gcp_project_id).table(bq_table)",
    "",
    "    try:",
    "        existing = gbq_client.get_table(table_ref)",
    "        logging.info(\"Table %s exists.\", full_name)",
    "",
    "        if force_delete is True:",
    "            logging.info(\"Table %s is flagged to be deleted.\", full_name)",
    "            gbq_client.delete_table(full_name)",
    "        else:",
    "            if existing.partitioning_type is not None:",
    "                partition_date = (kwargs.get(\"ds\") or datetime.date.today().isoformat()).replace(\"-\", \"\")",
    "                logging.info(\"Delete partition : %s\", full_name + \"$\" + partition_date)",
    "                gbq_client.delete_table(full_name + \"$\" + partition_date)",
    "",
    "            if run_locally is False:",
    "                _set_task_status(db, \"success\", **kwargs)",
    "            return",
    "",
    "    except exceptions.NotFound:",
    "        logging.info(\"Table %s does not exist. Let's create it.\", full_name)",
    "",
    "    table = bigquery.Table(table_ref)",
    "    table.description = bq_table_description",
    "",
    "    table_schema_out = []",
    "    for item in bq_table_schema:",
    "",
    "        if \"name\" not in item or \"type\" not in item:",
    "            logging.info(\"Skipping schema field without NAME or TYPE : %s\", item)",
    "            continue",
    "",
    "        field_type = item[\"type\"].strip()",
    "        if field_type == \"RECORD\":",
    "            table_schema_out.append(process_bigquery_record(item))",
    "        else:",
    "            table_schema_out.append(bigquery.SchemaField(item[\"name\"].strip(),",
    "                                                         field_type,",
    "                                                         description=item.get(\"description\"),",
    "                                                         mode=item.get(\"mode\", \"NULLABLE\")))",
    "",
    "    if bq_table_clustering_fields:",
    "        table.clustering_fields = bq_table_clustering_fields",
    "        logging.info(\"Clustering fields : %s\", str(bq_table_clustering_fields))",
    "",
    "    if time_partitioning is not None:",
    "        logging.info(\"Time partitioning : %s\", time_partitioning)",
    "        table.time_partitioning = bigquery.table.TimePartitioning(field=time_partitioning.get(\"field\"),",
    "                                                                  expiration_ms=time_partitioning.get(\"expiration_ms\"))",
    "        if time_partitioning.get(\"require_partition_filter\") is not None:",
    "            table.require_partition_filter = time_partitioning.get(\"require_partition_filter\")",
    "",
    "    table.schema = table_schema_out",
    "    gbq_client.create_table(table)",
    "",
    "    if run_locally is False:",
    "        _set_task_status(db, \"success\", **kwargs)",
    ""]

/-- The part of every script that follows the imports. -/
def helpers : String :=
  String.join (helpersLines.map (· ++ "\n"))

end WorkflowCompiler.Script
